import SearchQuery.Program.Run
import SearchQuery.Proofs.Files.Contents
import SearchQuery.Proofs.Settings.Discovery

/-!
# A new configuration file is all that is written

The command that makes a configuration file chooses a path and a text for it, looks whether
something is there already, and writes. `init_cases` says all that can come of this: the command
fails and the files are as they were, or it succeeds and the files are those of one write.

A write changes one place (`FileSystem.Writes`), and the choice of the path and that of the text
depend on the same question, whether the home directory is where the command runs
(`newFile_eq`). Settings are not looked at, so it does not matter whether they can be read.
-/

namespace SearchQuery

/-! ## What a write changes -/

/-- The second file system has the text where the path leads, and is the first one elsewhere. -/
structure FileSystem.Writes (fs fs' : FileSystem) (here : Place) (target : Path) (text : String) :
    Prop where
  /-- The path names a file with the text. -/
  read : fs'.readText here target = .ok text
  /-- One place has changed. -/
  place : ∃ place, fs.resolve here target = .ok place
    ∧ fs'.lookup? place = some (.file text.toUTF8)
    ∧ ∀ other, other ≠ place → fs'.lookup? other = fs.lookup? other
  /-- A path that leads elsewhere, or nowhere, names what it named. -/
  others : ∀ p, fs.resolve here p ≠ fs.resolve here target → fs'.find? here p = fs.find? here p

theorem FileSystem.writes_of_writeText {fs fs' : FileSystem} {here : Place} {target : Path}
    {text : String} (h : fs.writeText here target text = .ok fs') :
    fs.Writes fs' here target text := by
  obtain ⟨place, hresolve, hfree, rfl⟩ := writeText_eq_ok.mp h
  exact {
    read := readText_put hfree hresolve
    place := ⟨place, hresolve, lookup?_put_self hfree _, fun _ => lookup?_put_of_ne⟩
    others := fun p hp => find?_put_of_ne hfree fun hplace => hp (hplace.trans hresolve.symm) }

/-! ## Which file it is -/

/-- The file in the home directory lies in the home directory, however that is written. -/
theorem Site.any_parent?_globalFile (site : Site) :
    (site.globalFile.parent?.any fun home => home.sameAs site.here)
      = site.home.sameAs site.here := by
  obtain ⟨hstart, hsteps⟩ := site.home.start_steps_join isIdle_settingsFileName
  have hne : site.globalFile.steps ≠ [] := by
    rw [globalFile, hsteps]
    exact List.concat_ne_nil _ _
  -- its parent has the steps of the home directory, though it may be written in another way
  obtain ⟨dir, name, hparent, hdirStart, hdirSteps⟩ := Path.parent?_of_steps hne
  rw [globalFile, hsteps] at hdirSteps
  have hdir : dir.steps = site.home.steps := (List.append_inj' hdirSteps rfl).1.symm
  rw [hparent, Option.any_some, Path.sameAs, Path.sameAs, hdir, hdirStart, globalFile, hstart]

theorem Site.newFile_eq (site : Site) (global : Bool) :
    site.newFile global = if global || site.home.sameAs site.here
      then (site.globalFile, Template.global)
      else (site.here.join settingsFileName, Template.project) := by
  -- both choices ask whether the home directory is where the command runs
  rw [newFile, any_parent?_globalFile]

/-! ## What comes of the command -/

/-- **The command writes its file and does nothing else**, or it fails and does nothing. -/
theorem Context.init_cases (ctx : Context) (global force : Bool) :
    ((ctx.init global force).status = .failure
        ∧ (ctx.init global force).files = ctx.site.files
        ∧ (force = false ∧ ctx.site.files.pathExists ctx.site.directory (ctx.site.newFile global).1
            = true
          ∨ ∃ e, ctx.site.files.writeText ctx.site.directory (ctx.site.newFile global).1
            (ctx.site.newFile global).2 = .error e))
      ∨ ((ctx.init global force).status = .success
        ∧ (force = true ∨ ctx.site.files.pathExists ctx.site.directory (ctx.site.newFile global).1
            = false)
        ∧ ctx.site.files.writeText ctx.site.directory (ctx.site.newFile global).1
          (ctx.site.newFile global).2 = .ok (ctx.init global force).files) := by
  unfold Context.init
  dsimp only
  split
  · rename_i hrefused
    rw [Bool.and_eq_true, Bool.not_eq_true'] at hrefused
    exact .inl ⟨rfl, rfl, .inl ⟨hrefused.2, hrefused.1⟩⟩
  · rename_i hallowed
    have hforce : force = true ∨ ctx.site.files.pathExists ctx.site.directory
        (ctx.site.newFile global).1 = false := by
      cases force with
      | true => exact .inl rfl
      | false => exact .inr (by simpa using hallowed)
    cases hwrite : ctx.site.files.writeText ctx.site.directory (ctx.site.newFile global).1
        (ctx.site.newFile global).2 with
    | error e => exact .inl ⟨rfl, rfl, .inr ⟨e, rfl⟩⟩
    | ok files => exact .inr ⟨rfl, hforce, rfl⟩

theorem Program.run_init (env : Environment) (site : Site) {arguments : List String}
    {i : CommandLine.Invocation} {global force : Bool}
    (hread : CommandLine.read arguments = .ok i) (hinit : i.command = .init global force) :
    run env site arguments
      = (⟨site, .default, env.styler i.noColor .default⟩ : Context).init global force := by
  unfold run runInvocation
  simp only [hread, hinit]
  rfl

/-! ## At the top -/

/--
**The command for a new configuration file writes that file or nothing.** The file is the one in
the home directory, with the text for it, if that is asked for or the home directory is where
the command runs, and else the one in the directory where it runs, with the text for a project.
When the command succeeds, that text is at that path and all else is as before, and when it does
not, everything is. It does not write over anything unless it is forced to, and it succeeds
wherever there is something that may be written to.
-/
theorem init_writes_one_file (env : Environment) (site : Site) (arguments : List String)
    (i : CommandLine.Invocation) (global force : Bool)
    (hread : CommandLine.read arguments = .ok i) (hinit : i.command = .init global force) :
    let outcome := Program.run env site arguments
    let inHome := global || site.home.sameAs site.here
    let target := if inHome then site.globalFile else site.here.join settingsFileName
    let text := if inHome then Template.global else Template.project
    (outcome.status ≠ .success → outcome.status = .failure ∧ outcome.files = site.files)
      ∧ (outcome.status = .success →
        site.files.Writes outcome.files site.directory target text)
      ∧ (force = false → site.files.pathExists site.directory target = true →
        outcome.status = .failure)
      ∧ (outcome.status = .success ↔
        (force = true ∨ site.files.pathExists site.directory target = false)
          ∧ ∃ place, site.files.resolve site.directory target = .ok place
            ∧ site.files.lookup? place ≠ some .directory) := by
  intro outcome inHome target text
  let ctx : Context := ⟨site, .default, env.styler i.noColor .default⟩
  have hrun : outcome = ctx.init global force := Program.run_init env site hread hinit
  have htarget : (site.newFile global).1 = target := by
    rw [site.newFile_eq, apply_ite Prod.fst]
  have htext : (site.newFile global).2 = text := by
    rw [site.newFile_eq, apply_ite Prod.snd]
  have hcases := ctx.init_cases global force
  rw [← hrun, show ctx.site = site from rfl, htarget, htext] at hcases
  rcases hcases with ⟨hfailed, hfiles, hwhy⟩ | ⟨hdone, hallowed, hwrite⟩
  · have hnot : outcome.status ≠ .success := by
      rw [hfailed]
      exact Status.noConfusion
    refine ⟨fun _ => ⟨hfailed, hfiles⟩, fun h => absurd h hnot, fun _ _ => hfailed,
      iff_of_false hnot ?_⟩
    rintro ⟨hallowed, place, hresolve, hfree⟩
    -- it failed because something is there, or because nothing can be written there
    rcases hwhy with ⟨hforce, hexists⟩ | ⟨e, herror⟩
    · rw [hforce, hexists] at hallowed
      exact hallowed.elim Bool.false_ne_true Bool.noConfusion
    · rw [FileSystem.writeText_eq_ok.mpr ⟨place, hresolve, hfree, rfl⟩] at herror
      cases herror
  · refine ⟨fun h => absurd hdone h, fun _ => FileSystem.writes_of_writeText hwrite, ?_, ?_⟩
    · intro hforce hexists
      rw [hforce, hexists] at hallowed
      exact absurd hallowed (by decide)
    · obtain ⟨place, hresolve, hfree, _⟩ := FileSystem.writeText_eq_ok.mp hwrite
      exact iff_of_true hdone ⟨hallowed, place, hresolve, hfree⟩

/-- A home directory with a configuration file that cannot be understood; the command runs in it,
and it is written with a slash at its end. -/
def brokenHome : Site where
  files := ⟨fun place =>
    if place = ["home"] then some .directory
    else if place = ["home", ".sift.toml"] then some (.file "not [valid toml".toUTF8)
    else none⟩
  home := ⟨["", "home", ""]⟩
  directory := ["home"]

/-- The file that is there stays as it is, unless the command is forced to write: then it holds the
text for the home directory. -/
theorem init_writes_one_file_brokenHome :
    (Program.run ⟨none, none, false⟩ brokenHome ["init"]).status = .failure
      ∧ (Program.run ⟨none, none, false⟩ brokenHome ["init"]).files = brokenHome.files
      ∧ (Program.run ⟨none, none, false⟩ brokenHome ["init", "--force"]).files.readText ["home"]
          ⟨["", "home", ".sift.toml"]⟩ = .ok Template.global := by
  have hread : CommandLine.read ["init"] = .ok ⟨.init false false, 0, false⟩ := by decide +kernel
  have hforced : CommandLine.read ["init", "--force"] = .ok ⟨.init false true, 0, false⟩ := by
    decide +kernel
  have hrefused : (Program.run ⟨none, none, false⟩ brokenHome ["init"]).status ≠ .success := by
    decide +kernel
  have hdone : (Program.run ⟨none, none, false⟩ brokenHome ["init", "--force"]).status
      = .success := by decide +kernel
  obtain ⟨hfails, _⟩ :=
    init_writes_one_file ⟨none, none, false⟩ brokenHome _ _ false false hread rfl
  obtain ⟨_, hwrites, _⟩ :=
    init_writes_one_file ⟨none, none, false⟩ brokenHome _ _ false true hforced rfl
  exact ⟨(hfails hrefused).1, (hfails hrefused).2, (hwrites hdone).read⟩

end SearchQuery
