import SearchQuery.Proofs.Files.Ancestors
import SearchQuery.Settings.Discovery

/-!
# Which configuration files apply

On the way outward from a directory some of the paths where a configuration file may be are
files, and `Applies` says what becomes of them: all that come after the first root are left
out, and if there is no root the file in the home directory follows, unless it has been met
already. `discover_applies_outward` says that this is what the search finds, for any directory
and whatever is on the disk.

Meeting the file in the home directory on the way is not the same as adding it at the end. It
then keeps its place, before the files of the directories around the home directory, and they
come last (`getLast?_discover_iff`).
-/

namespace SearchQuery

namespace Site

variable {site : Site} {p root : Path} {met before after found : List Path}

/-- The file can be read and understood, and says that it is the root. -/
def DeclaresRoot (site : Site) (p : Path) : Prop :=
  ∃ text l, site.files.readText site.directory p = .ok text ∧ Layer.read text = .ok l
    ∧ l.root = some true

theorem layer_eq_ok {l : Layer} : site.layer p = .ok l ↔
    ∃ text, site.files.readText site.directory p = .ok text ∧ Layer.read text = .ok l := by
  unfold layer Layer.readFrom
  cases site.files.readText site.directory p with
  | error e => simp
  | ok text => cases hread : Layer.read text <;> simp [hread]

theorem isRoot_iff : site.isRoot p = true ↔ site.DeclaresRoot p := by
  unfold isRoot
  cases hlayer : site.layer p with
  | error e =>
    refine iff_of_false Bool.false_ne_true ?_
    rintro ⟨text, l, htext, hl, _⟩
    rw [layer_eq_ok.mpr ⟨text, htext, hl⟩] at hlayer
    cases hlayer
  | ok l =>
    obtain ⟨text, htext, hl⟩ := layer_eq_ok.mp hlayer
    constructor
    · intro hroot
      exact ⟨text, l, htext, hl, of_decide_eq_true hroot⟩
    · rintro ⟨text', l', htext', hl', hroot⟩
      have hsame := hlayer.symm.trans (layer_eq_ok.mpr ⟨text', htext', hl'⟩)
      cases hsame
      exact decide_eq_true hroot

/-! ## What applies of the files that are met -/

/-- The files that apply, of those that are met on the way outward. -/
inductive Applies (site : Site) : List Path → List Path → Prop where
  /-- Nothing beyond the first root applies. -/
  | upTo {before after : List Path} {root : Path} : (∀ p ∈ before, ¬ site.DeclaresRoot p) →
      site.DeclaresRoot root → Applies site (before ++ root :: after) (before ++ [root])
  /-- The file in the home directory has not been met and applies after all others. -/
  | withGlobal {met : List Path} : (∀ p ∈ met, ¬ site.DeclaresRoot p) →
      site.isFile site.globalFile = true → (∀ p ∈ met, ¬ p.sameAs site.globalFile = true) →
      Applies site met (met ++ [site.globalFile])
  /-- There is no such file, or it has been met. -/
  | alone {met : List Path} : (∀ p ∈ met, ¬ site.DeclaresRoot p) →
      ¬ site.isFile site.globalFile = true ∨ (∃ p ∈ met, p.sameAs site.globalFile = true) →
      Applies site met met

/-- The walk takes the files up to the first root. -/
theorem walk_cases (site : Site) (paths : List Path) :
    (∃ before root after, paths.filter site.isFile = before ++ root :: after
        ∧ (∀ p ∈ before, ¬ site.DeclaresRoot p) ∧ site.DeclaresRoot root
        ∧ site.walk paths = before.map (·, false) ++ [(root, true)])
      ∨ (∀ p ∈ paths.filter site.isFile, ¬ site.DeclaresRoot p)
        ∧ site.walk paths = (paths.filter site.isFile).map (·, false) := by
  induction paths with
  | nil => exact .inr ⟨by simp, rfl⟩
  | cons p paths ih =>
    by_cases hfile : site.isFile p = true
    · rw [List.filter_cons_of_pos hfile, walk, if_pos hfile]
      by_cases hroot : site.isRoot p = true
      · -- what comes after the root is not looked at
        rw [if_pos hroot]
        exact .inl ⟨[], p, _, rfl, by simp, isRoot_iff.mp hroot, rfl⟩
      · rw [if_neg hroot]
        rw [isRoot_iff] at hroot
        obtain ⟨before, root, after, hmet, hbefore, hdeclares, hwalk⟩ | ⟨hnone, hwalk⟩ := ih
        · refine .inl ⟨p :: before, root, after, by rw [hmet]; rfl, ?_, hdeclares, by rw [hwalk]; rfl⟩
          exact List.forall_mem_cons.mpr ⟨hroot, hbefore⟩
        · exact .inr ⟨List.forall_mem_cons.mpr ⟨hroot, hnone⟩, by rw [hwalk]; rfl⟩
    · rw [List.filter_cons_of_neg hfile, walk, if_neg hfile]
      exact ih

/-- Nothing is added after a root. -/
theorem globalAfter_root (site : Site) (before : List Path) (root : Path) :
    site.globalAfter (before.map (·, false) ++ [(root, true)]) = [] := by
  simp [globalAfter]

/-- Where there is no root, it matters whether the file has been met. -/
theorem globalAfter_met (site : Site) (met : List Path) :
    site.globalAfter (met.map (·, false))
      = if site.isFile site.globalFile = true
          ∧ ∀ p ∈ met, ¬ p.sameAs site.globalFile = true then [site.globalFile] else [] := by
  simp [globalAfter, List.any_map, Function.comp_def]

/-- The files of the directories around a directory, the nearest first. -/
def filesAround (site : Site) (start : Path) : List Path :=
  (candidates start).filter site.isFile

/-- **The search finds what applies of the files that it meets.** -/
theorem applies_discover (site : Site) (start : Path) :
    site.Applies (site.filesAround start) (site.discover start) := by
  unfold discover filesAround
  obtain ⟨before, root, after, hmet, hbefore, hroot, hwalk⟩ | ⟨hnone, hwalk⟩ :=
    site.walk_cases (candidates start)
  · have hfound : (before.map (·, false) ++ [(root, true)]).map Prod.fst = before ++ [root] := by
      simp [Function.comp_def]
    dsimp only
    rw [hwalk, hmet, globalAfter_root, hfound, List.append_nil]
    exact .upTo hbefore hroot
  · have hfound : ∀ met : List Path, (met.map (·, false)).map Prod.fst = met := by
      simp [Function.comp_def]
    dsimp only
    rw [hwalk, globalAfter_met, hfound]
    split
    · rename_i hglobal
      exact .withGlobal hnone hglobal.1 hglobal.2
    · rename_i hglobal
      rw [List.append_nil]
      refine .alone hnone ?_
      by_cases hfile : site.isFile site.globalFile = true
      · right
        -- the file is there and was not added, so one of those that were met must be the same path
        by_contra hother
        exact hglobal ⟨hfile, fun p hp hsame => hother ⟨p, hp, hsame⟩⟩
      · exact .inl hfile

variable (h : site.Applies met found)

include h

/-- Of the files that apply only the last may be the root. -/
theorem Applies.not_root : ∀ p ∈ found.dropLast, ¬ site.DeclaresRoot p := by
  cases h with
  | upTo hbefore _ =>
    rw [List.dropLast_concat]
    exact hbefore
  | withGlobal hnone _ _ =>
    rw [List.dropLast_concat]
    exact hnone
  | alone hnone _ => exact fun p hp => hnone p (List.dropLast_subset _ hp)

/-- Files that are told apart on the way are told apart when they apply. -/
theorem Applies.pairwise (hmet : met.Pairwise fun p q => ¬ p.sameAs q = true) :
    found.Pairwise fun p q => ¬ p.sameAs q = true := by
  cases h with
  | upTo _ _ =>
    refine hmet.sublist ?_
    -- what is left out stands behind the root, so two paths found were two paths met
    exact (List.singleton_sublist.mpr List.mem_cons_self).append_left _
  | withGlobal _ _ hother =>
    refine List.pairwise_append.mpr ⟨hmet, List.pairwise_singleton _ _, fun p hp q hq => ?_⟩
    rw [List.mem_singleton.mp hq]
    exact hother p hp
  | alone _ _ => exact hmet

omit h

/-- Further outward than a file there is another one. -/
def HasOuter (met : List Path) (p : Path) : Prop :=
  ∃ inner q outer, met = inner ++ p :: q :: outer

theorem HasOuter.mem (h : HasOuter met p) : p ∈ met := by
  obtain ⟨inner, q, outer, rfl⟩ := h
  exact List.mem_append_right inner List.mem_cons_self

/-- What stands before the root has the root further outward. -/
theorem hasOuter_of_mem (hp : p ∈ before) : HasOuter (before ++ root :: after) p := by
  obtain ⟨inner, rest, rfl⟩ := List.append_of_mem hp
  obtain ⟨q, outer, hrest⟩ := List.exists_cons_of_ne_nil
    (List.append_ne_nil_of_right_ne_nil rest (List.cons_ne_nil root after))
  exact ⟨inner, q, outer, by rw [List.append_assoc, List.cons_append, hrest]⟩

/-- The last of the files that are met is the one that has none further outward. -/
theorem getLast?_eq_iff_not_hasOuter (hmet : met.Pairwise fun p q => ¬ p.sameAs q = true)
    (hp : p ∈ met) : met.getLast? = some p ↔ ¬ HasOuter met p := by
  constructor
  · rintro hlast ⟨inner, q, outer, rfl⟩
    rw [List.getLast?_append_cons, List.getLast?_cons_cons] at hlast
    -- the file would stand in two places
    have hagain : p ∈ q :: outer := List.mem_of_getLast? hlast
    have hself := (List.pairwise_cons.mp (List.pairwise_append.mp hmet).2.1).1 p hagain
    exact hself p.sameAs_self
  · intro hnone
    obtain ⟨inner, rest, rfl⟩ := List.append_of_mem hp
    cases rest with
    | nil => exact List.getLast?_concat
    | cons q outer => exact absurd ⟨inner, q, outer, rfl⟩ hnone

/-- **The file in the home directory applies last** if it is the root, or if no file has been met
further outward. -/
theorem Applies.getLast?_iff (h : site.Applies met found)
    (hmet : met.Pairwise fun p q => ¬ p.sameAs q = true) (hp : p ∈ found)
    (hp' : p.sameAs site.globalFile = true) :
    found.getLast? = some p ↔ site.DeclaresRoot p ∨ ¬ HasOuter met p := by
  cases h with
  | @upTo before after root hbefore hroot =>
    rw [List.getLast?_concat, Option.some.injEq]
    rcases List.mem_append.mp hp with hp | hp
    · -- the root stands further outward and comes last instead
      refine iff_of_false ?_ ?_
      · rintro rfl
        exact hbefore root hp hroot
      · rintro (hdeclares | hno)
        · exact hbefore p hp hdeclares
        · exact hno (hasOuter_of_mem hp)
    · obtain rfl := List.mem_singleton.mp hp
      exact iff_of_true rfl (.inl hroot)
  | withGlobal _ _ hother =>
    have hmem : p ∉ met := fun hp => hother p hp hp'
    -- no file that was met is this path, so it is the one that was added
    have hlast := List.mem_singleton.mp ((List.mem_append.mp hp).resolve_left hmem)
    rw [List.getLast?_concat, hlast]
    rw [hlast] at hmem
    exact iff_of_true rfl (.inr fun houter => hmem houter.mem)
  | alone hnone _ =>
    -- there is no root, so only the place among the files that were met is left to decide
    rw [getLast?_eq_iff_not_hasOuter hmet hp]
    exact (or_iff_right (hnone p hp)).symm

/-! ## At the top -/

theorem isIdle_settingsFileName : Path.isIdle settingsFileName = false := by decide

theorem pairwise_filesAround (site : Site) (start : Path) :
    (site.filesAround start).Pairwise fun p q => ¬ p.sameAs q = true :=
  (start.outward_ancestors.pairwise_join isIdle_settingsFileName).filter _

/--
**What the search finds**, from a directory outward: of the paths where a configuration file may
be, in the directory and in each parent, those that are files, up to the first one that
can be read and understood and says that it is the root; and if there is none, the file in the
home directory after them, unless one of them is the same path. No two of the paths found are
the same, and only the last may be a root.
-/
theorem discover_applies_outward (site : Site) (start : Path) :
    (∃ dirs, start.Outward dirs
        ∧ site.Applies ((dirs.map (·.join settingsFileName)).filter site.isFile)
          (site.discover start))
      ∧ (site.discover start).Pairwise (fun p q => ¬ p.sameAs q = true)
      ∧ ∀ p ∈ (site.discover start).dropLast, ¬ site.DeclaresRoot p := by
  have happlies := site.applies_discover start
  refine ⟨⟨start.ancestors, start.outward_ancestors, happlies⟩, ?_, happlies.not_root⟩
  exact happlies.pairwise (site.pairwise_filesAround start)

/--
**When the file in the home directory applies last.** A path that names it and is found comes last
exactly when it is a root or there is no file in a directory further outward. So it comes
before such files if the search started inside the home directory.
-/
theorem getLast?_discover_iff (site : Site) (start p : Path) (hp : p ∈ site.discover start)
    (hp' : p.sameAs site.globalFile = true) :
    (site.discover start).getLast? = some p
      ↔ site.DeclaresRoot p ∨ ¬ HasOuter (site.filesAround start) p :=
  (site.applies_discover start).getLast?_iff (site.pairwise_filesAround start) hp hp'

/-- A home directory with a file in it, in a directory with another file in it. -/
def nestedHome : Site where
  files := ⟨fun place =>
    if place = ["home"] then some .directory
    else if place = [".sift.toml"] ∨ place = ["home", ".sift.toml"] then some (.file "".toUTF8)
    else none⟩
  home := ⟨["", "home"]⟩
  directory := []

/-- The file in the home directory is found under another spelling, and a file further outward. -/
theorem getLast?_discover_nestedHome :
    ⟨["", "home", ".", ".sift.toml"]⟩ ∈ nestedHome.discover ⟨["", "home", "."]⟩
      ∧ Path.sameAs ⟨["", "home", ".", ".sift.toml"]⟩ nestedHome.globalFile = true
      ∧ ((nestedHome.discover ⟨["", "home", "."]⟩).getLast?
          = some ⟨["", "home", ".", ".sift.toml"]⟩
        ↔ nestedHome.DeclaresRoot ⟨["", "home", ".", ".sift.toml"]⟩
          ∨ ¬ HasOuter (nestedHome.filesAround ⟨["", "home", "."]⟩)
            ⟨["", "home", ".", ".sift.toml"]⟩) := by
  have hmem : (⟨["", "home", ".", ".sift.toml"]⟩ : Path)
      ∈ nestedHome.discover ⟨["", "home", "."]⟩ := by decide +kernel
  have hsame : Path.sameAs ⟨["", "home", ".", ".sift.toml"]⟩ nestedHome.globalFile = true := by
    decide
  exact ⟨hmem, hsame, getLast?_discover_iff _ _ _ hmem hsame⟩

/-- From inside the home directory, the file around it comes after the one in it. -/
theorem global_before_outer_nestedHome :
    nestedHome.globalFile ∈ nestedHome.discover ⟨["", "home", "p"]⟩
      ∧ (nestedHome.discover ⟨["", "home", "p"]⟩).getLast? ≠ some nestedHome.globalFile := by
  decide +kernel

end Site

end SearchQuery
