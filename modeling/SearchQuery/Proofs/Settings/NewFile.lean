import SearchQuery.Proofs.Program.Initialization
import SearchQuery.Proofs.Settings.Resolution
import SearchQuery.Proofs.Settings.Template

/-!
# A new configuration file changes nothing

A new configuration file is found from every directory below it, by whatever path leads to it,
and it may be the file in the home directory as well. `AddsIdle` says what matters of this: the
second of two sites has the files of the first and some more, which say nothing, and no path to
one of these means the same as a path to an old one.

Then the search in the second site finds the files of the first in their order, and new ones
among them (`discover_eq_filter`). The new ones are no roots, so the walk goes as far as before;
they do not keep the file in the home directory from being added; and a layer that says nothing
neither fails nor hides another (`choices_loadFiles_filter`).
-/

namespace SearchQuery

/-- The choices that settings hold, without their origin. -/
def Settings.choices (s : Settings) : QuerySettings × OutputSettings := (s.query, s.output)

/-- The choices with those of a layer put over them. -/
def Layer.over (l : Layer) (c : QuerySettings × OutputSettings) : QuerySettings × OutputSettings :=
  (Settings.overlay l ⟨c.1, c.2, none⟩).choices

theorem eq_error_of_map_eq_error {α β ε : Type} {f : α → β} {x : Except ε α} {e : ε}
    (h : x.map f = .error e) : x = .error e := by
  cases x with
  | error e' => exact congrArg Except.error (Except.error.inj h)
  | ok a => cases h

namespace Site

variable {site site' : Site} {p q start : Path} {paths : List Path}

/-! ## Layers that say nothing -/

theorem choices_loadFiles_cons (site : Site) (p : Path) (paths : List Path) :
    (site.loadFiles (p :: paths)).map Settings.choices
      = match site.layer p with
        | .error e => .error e
        | .ok l => ((site.loadFiles paths).map Settings.choices).map l.over := by
  rw [loadFiles_eq, loadFiles_eq, List.mapM_cons, placedLayer]
  cases site.layer p with
  | error e => rfl
  | ok l => cases paths.mapM site.placedLayer <;> rfl

/-- **Files that say nothing can be left out of a list**, whatever they stand between. -/
theorem choices_loadFiles_filter (keep : Path → Bool)
    (hkept : ∀ p ∈ paths, keep p = true → site'.layer p = site.layer p)
    (hidle : ∀ p ∈ paths, ¬ keep p = true → site'.layer p = .ok .empty) :
    (site'.loadFiles paths).map Settings.choices
      = (site.loadFiles (paths.filter keep)).map Settings.choices := by
  induction paths with
  | nil => rfl
  | cons p paths ih =>
    obtain ⟨hp, hkept⟩ := List.forall_mem_cons.mp hkept
    obtain ⟨hp', hidle⟩ := List.forall_mem_cons.mp hidle
    rw [choices_loadFiles_cons, ih hkept hidle]
    by_cases hkeep : keep p = true
    · rw [List.filter_cons_of_pos hkeep, choices_loadFiles_cons, hp hkeep]
    · -- the layer that is left out puts nothing over the choices of the others
      rw [List.filter_cons_of_neg hkeep, hp' hkeep]
      dsimp only
      cases (site.loadFiles (paths.filter keep)).map Settings.choices <;> rfl

/-! ## A site with more files -/

/-- The second site has the files of the first and some more, which say nothing. -/
structure AddsIdle (site site' : Site) : Prop where
  home : site'.globalFile = site.globalFile
  kept : ∀ p, site.isFile p = true → site'.isFile p = true ∧ site'.layer p = site.layer p
  idle : ∀ p, site'.isFile p = true → ¬ site.isFile p = true → site'.layer p = .ok .empty
  /-- A path that means the same as a path to an old file does not lead to a new one. -/
  apart : ∀ p q, p.sameAs q = true → site'.isFile p = true → site.isFile q = true →
    site.isFile p = true

namespace AddsIdle

variable (h : site.AddsIdle site')

include h

theorem isRoot_eq (hp : site.isFile p = true) : site'.isRoot p = site.isRoot p := by
  unfold isRoot
  rw [(h.kept p hp).2]

theorem not_isRoot (hp' : site'.isFile p = true) (hp : ¬ site.isFile p = true) :
    ¬ site'.isRoot p = true := by
  unfold isRoot
  rw [h.idle p hp' hp]
  simp [Layer.empty]

/-- Each file is an old one, or it says nothing. -/
theorem mem_walk : ∀ f ∈ site'.walk paths,
    site'.isFile f.1 = true ∧ (f.2 = true → site.isFile f.1 = true) := by
  induction paths with
  | nil =>
    intro f hf
    cases hf
  | cons p paths ih =>
    intro f hf
    rw [walk] at hf
    by_cases hp' : site'.isFile p = true
    · rw [if_pos hp'] at hf
      by_cases hroot : site'.isRoot p = true
      · rw [if_pos hroot] at hf
        obtain rfl := List.mem_singleton.mp hf
        refine ⟨hp', fun _ => ?_⟩
        -- a root says something, so it is no new file
        by_contra hp
        exact h.not_isRoot hp' hp hroot
      · rw [if_neg hroot] at hf
        rcases List.mem_cons.mp hf with rfl | hf
        · exact ⟨hp', fun hfalse => absurd hfalse Bool.false_ne_true⟩
        · exact ih f hf
    · rw [if_neg hp'] at hf
      exact ih f hf

/-- **The walk takes the old files as before**, and goes as far. -/
theorem walk_eq_filter :
    site.walk paths = (site'.walk paths).filter fun f => site.isFile f.1 := by
  have hkeep : ∀ (f : Path × Bool) rest, site.isFile f.1 = true →
      (f :: rest).filter (fun f => site.isFile f.1) = f :: rest.filter fun f => site.isFile f.1 :=
    fun f rest hf => List.filter_cons_of_pos hf
  have hdrop : ∀ (f : Path × Bool) rest, ¬ site.isFile f.1 = true →
      (f :: rest).filter (fun f => site.isFile f.1) = rest.filter fun f => site.isFile f.1 :=
    fun f rest hf => List.filter_cons_of_neg hf
  induction paths with
  | nil => rfl
  | cons p paths ih =>
    rw [walk, walk]
    by_cases hp : site.isFile p = true
    · obtain ⟨hp', _⟩ := h.kept p hp
      rw [if_pos hp, if_pos hp', h.isRoot_eq hp]
      split
      · rw [hkeep _ _ hp]
        rfl
      · rw [hkeep _ _ hp, ih]
    · rw [if_neg hp]
      by_cases hp' : site'.isFile p = true
      · -- a new file is walked past, since it is no root
        rw [if_pos hp', if_neg (h.not_isRoot hp' hp), hdrop _ _ hp, ih]
      · rw [if_neg hp', ih]

theorem any_walk {test : Path × Bool → Bool}
    (htest : ∀ f ∈ site'.walk paths, test f = true → site.isFile f.1 = true) :
    (site.walk paths).any test = (site'.walk paths).any test := by
  rw [h.walk_eq_filter, List.any_filter]
  rw [Bool.eq_iff_iff, List.any_eq_true, List.any_eq_true]
  constructor
  · rintro ⟨f, hf, hboth⟩
    exact ⟨f, hf, ((Bool.and_eq_true _ _).mp hboth).2⟩
  · rintro ⟨f, hf, hyes⟩
    exact ⟨f, hf, (Bool.and_eq_true _ _).mpr ⟨htest f hf hyes, hyes⟩⟩

/-- An old file in the home directory is added as before. -/
theorem globalAfter_eq_filter :
    site.globalAfter (site.walk paths) = (site'.globalAfter (site'.walk paths)).filter site.isFile := by
  unfold globalAfter
  rw [h.home]
  by_cases hglobal : site.isFile site.globalFile = true
  · have hroot : (site.walk paths).any (fun f => f.2) = (site'.walk paths).any fun f => f.2 :=
      h.any_walk fun f hf => (h.mem_walk f hf).2
    -- a new file does not pass for the old one in the home directory
    have hmet : (site.walk paths).any (fun f => f.1.sameAs site.globalFile)
        = (site'.walk paths).any fun f => f.1.sameAs site.globalFile :=
      h.any_walk fun f hf hsame => h.apart _ _ hsame (h.mem_walk f hf).1 hglobal
    rw [hroot, hmet, hglobal, (h.kept _ hglobal).1]
    split
    · rw [List.filter_cons_of_pos hglobal]
      rfl
    · rfl
  · rw [Bool.not_eq_true] at hglobal
    rw [hglobal, Bool.and_false, Bool.false_and, if_neg Bool.false_ne_true]
    split
    · rw [List.filter_cons_of_neg (by rw [hglobal]; exact Bool.false_ne_true)]
      rfl
    · rfl

/-- **The search finds the old files in their order**, and new ones among them. -/
theorem discover_eq_filter : site.discover start = (site'.discover start).filter site.isFile := by
  unfold discover
  dsimp only
  rw [List.filter_append, ← h.globalAfter_eq_filter, List.filter_map, h.walk_eq_filter]
  rfl

theorem isFile_of_mem_discover (hp : p ∈ site'.discover start) : site'.isFile p = true := by
  unfold discover at hp
  rcases List.mem_append.mp hp with hp | hp
  · obtain ⟨f, hf, rfl⟩ := List.mem_map.mp hp
    exact (h.mem_walk f hf).1
  · unfold globalAfter at hp
    split at hp
    · rename_i hcond
      obtain rfl := List.mem_singleton.mp hp
      simp only [Bool.and_eq_true] at hcond
      exact hcond.1.2
    · cases hp

/-- **The same choices are made as before**, or loading fails as before. -/
theorem choices_load (start : Path) :
    (site'.load start).map Settings.choices = (site.load start).map Settings.choices := by
  unfold load
  rw [h.discover_eq_filter]
  -- the files found are old ones with their layers, or new ones that say nothing
  refine choices_loadFiles_filter site.isFile (fun p _ hp => (h.kept p hp).2) fun p hmem hp => ?_
  exact h.idle p (h.isFile_of_mem_discover hmem) hp

end AddsIdle

/-! ## Writing the file -/

/-- **A text that says nothing, written where nothing was, is a file more.** -/
theorem addsIdle_put {place : Place} {text : String}
    (hvacant : site.files.lookup? place = none) (hread : Layer.read text = .ok .empty) :
    site.AddsIdle { site with files := site.files.put place (.file text.toUTF8) } where
  home := rfl
  kept := by
    intro p hp
    obtain ⟨bytes, hbytes⟩ := FileSystem.isFile_iff.mp hp
    have hbytes' : (site.files.put place (.file text.toUTF8)).contents? site.directory p
        = some bytes :=
      (FileSystem.contents?_put hvacant).mpr (.inr hbytes)
    refine ⟨FileSystem.isFile_iff.mpr ⟨bytes, hbytes'⟩, ?_⟩
    unfold layer
    rw [FileSystem.readText_of_contents? hbytes, FileSystem.readText_of_contents? hbytes']
  idle := by
    intro p hp' hp
    obtain ⟨bytes, hbytes⟩ := FileSystem.isFile_iff.mp hp'
    rcases (FileSystem.contents?_put hvacant).mp hbytes with ⟨_, rfl⟩ | hold
    · have htext := FileSystem.readText_of_contents? hbytes
      rw [FileSystem.fromUTF8?_toUTF8] at htext
      exact layer_eq_ok.mpr ⟨text, htext, hread⟩
    · exact absurd (FileSystem.isFile_iff.mpr ⟨bytes, hold⟩) hp
  apart := by
    intro p q hsame hp' hq
    obtain ⟨bytes, hbytes⟩ := FileSystem.isFile_iff.mp hp'
    rcases (FileSystem.contents?_put hvacant).mp hbytes with ⟨hplace, _⟩ | hold
    · -- the other path would lead to the new place, where nothing was
      obtain ⟨bytes', hbytes'⟩ := FileSystem.isFile_iff.mp hq
      obtain ⟨place', hplace', hentry⟩ := FileSystem.contents?_eq_some.mp hbytes'
      obtain rfl := FileSystem.resolve_sameAs hsame hplace hplace'
      rw [hvacant] at hentry
      cases hentry
    · exact FileSystem.isFile_iff.mpr ⟨bytes, hold⟩

theorem read_newFile (site : Site) (global : Bool) :
    Layer.read (site.newFile global).2 = .ok .empty := by
  unfold newFile
  split
  · exact Template.read_global
  · exact Template.read_project

end Site

/-- Where a new file is written, it is all that is written. -/
theorem Context.files_init (ctx : Context) {global force : Bool}
    (hnew : ctx.site.files.pathExists ctx.site.directory (ctx.site.newFile global).1 = false)
    (hdone : (ctx.init global force).status = .success) :
    ∃ place, ctx.site.files.lookup? place = none ∧ (ctx.init global force).files
      = ctx.site.files.put place (.file (ctx.site.newFile global).2.toUTF8) := by
  rcases ctx.init_cases global force with ⟨hfailed, _⟩ | ⟨_, _, hwrite⟩
  · rw [hfailed] at hdone
    cases hdone
  · obtain ⟨place, hresolve, _, hput⟩ := FileSystem.writeText_eq_ok.mp hwrite
    refine ⟨place, ?_, hput⟩
    unfold FileSystem.pathExists FileSystem.find? at hnew
    rw [hresolve] at hnew
    exact Option.isNone_iff_eq_none.mp (Option.isSome_eq_false_iff.mp hnew)

/-! ## At the top -/

/--
**A new configuration file changes no setting, wherever one looks from.** When the command for it
succeeds and its file was not there before, then from any directory the same settings are
loaded afterwards as before, their origin apart, and where loading failed it fails with the same
error.
-/
theorem init_keeps_settings (env : Environment) (site : Site) (arguments : List String)
    (i : CommandLine.Invocation) (global force : Bool)
    (hread : CommandLine.read arguments = .ok i) (hinit : i.command = .init global force)
    (hnew : site.files.pathExists site.directory (site.newFile global).1 = false)
    (hdone : (Program.run env site arguments).status = .success) (start : Path) :
    let after : Site := { site with files := (Program.run env site arguments).files }
    (∀ e, site.load start = .error e ↔ after.load start = .error e)
      ∧ ∀ s, site.load start = .ok s →
        ∃ s', after.load start = .ok s' ∧ s'.query = s.query ∧ s'.output = s.output := by
  intro after
  let ctx : Context := ⟨site, .default, env.styler i.noColor .default⟩
  have hrun : Program.run env site arguments = ctx.init global force :=
    Program.run_init env site hread hinit
  rw [hrun] at hdone
  obtain ⟨place, hvacant, hfiles⟩ := ctx.files_init hnew hdone
  have hadds : site.AddsIdle after := by
    show site.AddsIdle { site with files := (Program.run env site arguments).files }
    rw [hrun, hfiles]
    exact Site.addsIdle_put hvacant (site.read_newFile global)
  have hchoices := hadds.choices_load start
  constructor
  · intro e
    constructor
    · intro hload
      rw [hload] at hchoices
      exact eq_error_of_map_eq_error hchoices
    · intro hload
      rw [hload] at hchoices
      exact eq_error_of_map_eq_error hchoices.symm
  · intro s hload
    cases hload' : after.load start with
    | error e =>
      rw [hload, hload'] at hchoices
      cases hchoices
    | ok s' =>
      rw [hload, hload'] at hchoices
      obtain ⟨hquery, houtput⟩ := Prod.mk.inj (Except.ok.inj hchoices)
      exact ⟨s', rfl, hquery, houtput⟩

/-- A directory without a configuration file, below one with a file that turns colours off. -/
def colorlessSite : Site where
  files := ⟨fun place =>
    if place = ["work"] then some .directory
    else if place = [".sift.toml"] then some (.file "[output]\ncolor = false\n".toUTF8)
    else none⟩
  home := ⟨["", "home"]⟩
  directory := ["work"]

/-- The new file lies nearer than the one that turns colours off, and they stay off. -/
theorem init_keeps_settings_colorless :
    CommandLine.read ["init"] = .ok ⟨.init false false, 0, false⟩
      ∧ colorlessSite.files.pathExists colorlessSite.directory (colorlessSite.newFile false).1 = false
      ∧ (Program.run ⟨none, none, false⟩ colorlessSite ["init"]).status = .success
      ∧ ∃ s', Site.load { colorlessSite with
            files := (Program.run ⟨none, none, false⟩ colorlessSite ["init"]).files }
          ⟨["", "work"]⟩ = .ok s' ∧ s'.output = ⟨.tree, false⟩ := by
  have hread : CommandLine.read ["init"] = .ok ⟨.init false false, 0, false⟩ := by decide +kernel
  have hnew : colorlessSite.files.pathExists colorlessSite.directory (colorlessSite.newFile false).1
      = false := by decide +kernel
  have hdone : (Program.run ⟨none, none, false⟩ colorlessSite ["init"]).status = .success := by
    decide +kernel
  have hload : colorlessSite.load ⟨["", "work"]⟩
      = .ok ⟨⟨false⟩, ⟨.tree, false⟩, some ⟨["", ""]⟩⟩ := by
    decide +kernel
  obtain ⟨_, hkeeps⟩ := init_keeps_settings ⟨none, none, false⟩ colorlessSite ["init"] _ false false
    hread rfl hnew hdone ⟨["", "work"]⟩
  obtain ⟨s', hs', _, houtput⟩ := hkeeps _ hload
  exact ⟨hread, hnew, hdone, s', hs', houtput⟩

end SearchQuery
