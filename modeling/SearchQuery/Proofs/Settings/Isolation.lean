import SearchQuery.Proofs.Files.Contents
import SearchQuery.Proofs.Settings.Resolution

/-!
# A root keeps everything beyond it out

Two sites are compared that share some files and may differ in all others, in the home
directory, and in what is around it. `contents?` is all that a site can tell of a path: that
there is a file, and its bytes. Where two sites agree on that, the files are read alike, so a
file that is no text or no layer is at fault in both of them and a root in neither.

The search looks at the paths one by one and stops at the first root. So it comes to the same
files in two sites that agree up to a root (`discover_inside_root`), and as it stops there the
file in the home directory is not asked for in either.
-/

namespace SearchQuery

namespace Site

variable {site site' : Site} {p root start : Path} {nearer further : List Path}

/-! ## Two sites that agree on a path -/

/-- The bytes of the file that a path names, if it names a file. -/
def contents? (site : Site) (p : Path) : Option ByteArray :=
  site.files.contents? site.directory p

theorem DeclaresRoot.isFile (h : site.DeclaresRoot p) : site.isFile p = true := by
  obtain ⟨text, _, htext, _, _⟩ := h
  exact FileSystem.isFile_of_readText htext

theorem isFile_congr (h : site.contents? p = site'.contents? p) : site.isFile p = site'.isFile p := by
  have hsome := congrArg Option.isSome h
  unfold contents? at hsome
  rwa [← FileSystem.isFile_eq, ← FileSystem.isFile_eq] at hsome

/-- **A file with the same bytes is the same layer**, or at fault for the same reason. -/
theorem layer_congr (h : site.contents? p = site'.contents? p) (hfile : site.isFile p = true) :
    site.layer p = site'.layer p := by
  obtain ⟨bytes, hbytes⟩ := FileSystem.isFile_iff.mp hfile
  -- reading looks at the bytes only, and they are the same on both sides
  have hread := FileSystem.readText_of_contents? hbytes
  have hread' := FileSystem.readText_of_contents? (h.symm.trans hbytes)
  unfold layer
  rw [hread, hread']

theorem isRoot_congr (h : site.contents? p = site'.contents? p) (hfile : site.isFile p = true) :
    site.isRoot p = site'.isRoot p := by
  unfold isRoot
  rw [layer_congr h hfile]

/-! ## The search up to a root -/

/-- **The walk does not look beyond a root**, so it takes the same files in both sites. -/
theorem walk_inside_root (further : List Path) (hroot : site.DeclaresRoot root)
    (hagree : ∀ p ∈ nearer ++ [root], site.contents? p = site'.contents? p) :
    site.walk (nearer ++ root :: further) = site'.walk (nearer ++ root :: further)
      ∧ (∀ f ∈ site.walk (nearer ++ root :: further), f.1 ∈ nearer ++ [root] ∧ site.isFile f.1 = true)
      ∧ (site.walk (nearer ++ root :: further)).any (fun f => f.2) = true := by
  induction nearer with
  | nil =>
    have hfile := hroot.isFile
    have hdeclares := isRoot_iff.mpr hroot
    have hsame := hagree root (by simp)
    -- at the root both walks stop, so what is further is not looked at in either
    have hwalk : site.walk (root :: further) = [(root, true)] := by
      rw [walk, if_pos hfile, if_pos hdeclares]
    have hwalk' : site'.walk (root :: further) = [(root, true)] := by
      rw [walk, ← isFile_congr hsame, ← isRoot_congr hsame hfile, if_pos hfile, if_pos hdeclares]
    rw [List.nil_append, hwalk, hwalk']
    exact ⟨rfl, by simp [hfile], rfl⟩
  | cons p nearer ih =>
    obtain ⟨hsame, hagree⟩ := List.forall_mem_cons.mp hagree
    obtain ⟨hrest, hmem, hany⟩ := ih hagree
    have hfile' := isFile_congr hsame
    rw [List.cons_append, walk, walk, ← hfile', List.cons_append]
    by_cases hfile : site.isFile p = true
    · rw [if_pos hfile, if_pos hfile, ← isRoot_congr hsame hfile]
      -- a nearer file may be a root itself, and then the walks stop there together
      by_cases hdeclares : site.isRoot p = true
      · rw [if_pos hdeclares, if_pos hdeclares]
        exact ⟨rfl, by simp [hfile], rfl⟩
      · rw [if_neg hdeclares, if_neg hdeclares, hrest]
        refine ⟨rfl, ?_, ?_⟩
        · intro f hf
          rcases List.mem_cons.mp hf with rfl | hf
          · exact ⟨List.mem_cons_self, hfile⟩
          · obtain ⟨hin, hf⟩ := hmem f (hrest ▸ hf)
            exact ⟨List.mem_cons_of_mem p hin, hf⟩
        · rw [List.any_cons, ← hrest, hany, Bool.or_true]
    · rw [if_neg hfile, if_neg hfile]
      refine ⟨hrest, fun f hf => ?_, hany⟩
      obtain ⟨hin, hf⟩ := hmem f hf
      exact ⟨List.mem_cons_of_mem p hin, hf⟩

/-- Where a root is met, the file in the home directory is not asked for. -/
theorem globalAfter_of_any {found : List (Path × Bool)} (h : found.any (fun f => f.2) = true) :
    site.globalAfter found = [] := by
  simp [globalAfter, h]

/-- **The search finds the same files in both sites**, and all of them are at or inside the root. -/
theorem discover_inside_root (hwalk : candidates start = nearer ++ root :: further)
    (hroot : site.DeclaresRoot root)
    (hagree : ∀ p ∈ nearer ++ [root], site.contents? p = site'.contents? p) :
    site.discover start = site'.discover start
      ∧ ∀ p ∈ site.discover start, p ∈ nearer ++ [root] ∧ site.isFile p = true := by
  obtain ⟨hsame, hmem, hany⟩ := walk_inside_root further hroot hagree
  have hdiscover : site.discover start = (site.walk (candidates start)).map Prod.fst := by
    unfold discover
    rw [hwalk]
    simp only [globalAfter_of_any hany, List.append_nil]
  have hdiscover' : site'.discover start = (site'.walk (candidates start)).map Prod.fst := by
    unfold discover
    rw [hwalk]
    simp only [globalAfter_of_any (hsame ▸ hany), List.append_nil]
  rw [hdiscover, hdiscover', hwalk, hsame]
  refine ⟨rfl, fun p hp => ?_⟩
  obtain ⟨f, hf, rfl⟩ := List.mem_map.mp hp
  exact hmem f (hsame ▸ hf)

/-! ## At the top -/

/--
**Nothing beyond a root matters.** If a root stands among the paths where the search looks, then
the settings of the directory, or the error, depend on the root and the paths before it only:
another site that agrees on them, whatever it has elsewhere and wherever its home directory is,
gives the same result.
-/
theorem load_inside_root (hwalk : candidates start = nearer ++ root :: further)
    (hroot : site.DeclaresRoot root)
    (hagree : ∀ p ∈ nearer ++ [root], site.contents? p = site'.contents? p) :
    site.load start = site'.load start := by
  obtain ⟨hdiscover, hmem⟩ := discover_inside_root hwalk hroot hagree
  unfold load
  rw [← hdiscover]
  -- the two sites find the same files, and each of them is the same layer in both
  refine loadFiles_congr fun p hp => ?_
  obtain ⟨hin, hfile⟩ := hmem p hp
  exact layer_congr (hagree p hin) hfile

/-- A root with a file below it that is no layer, and some file around it. -/
def rootedSite (around : String) (home : Path) : Site where
  files := ⟨fun place =>
    if place = ["a"] ∨ place = ["a", "b"] then some .directory
    else if place = ["a", "b", ".sift.toml"] then some (.file "[query".toUTF8)
    else if place = ["a", ".sift.toml"] then some (.file "root = true\n".toUTF8)
    else if place = [".sift.toml"] then some (.file around.toUTF8)
    else none⟩
  home := home
  directory := []

/-- The home directory around the root in the one site, and below it in the other. -/
theorem load_inside_root_rootedSite :
    candidates ⟨["", "a", "b"]⟩
        = [⟨["", "a", "b", ".sift.toml"]⟩] ++ ⟨["", "a", ".sift.toml"]⟩ :: [⟨["", ".sift.toml"]⟩]
      ∧ (rootedSite "" ⟨["", ""]⟩).DeclaresRoot ⟨["", "a", ".sift.toml"]⟩
      ∧ (∀ p ∈ [(⟨["", "a", "b", ".sift.toml"]⟩ : Path)] ++ [⟨["", "a", ".sift.toml"]⟩],
          (rootedSite "" ⟨["", ""]⟩).contents? p
            = (rootedSite "[output]\ncolor = false\n" ⟨["", "a", "b"]⟩).contents? p)
      ∧ (rootedSite "" ⟨["", ""]⟩).load ⟨["", "a", "b"]⟩
        = (rootedSite "[output]\ncolor = false\n" ⟨["", "a", "b"]⟩).load ⟨["", "a", "b"]⟩ := by
  have hwalk : candidates ⟨["", "a", "b"]⟩
      = [⟨["", "a", "b", ".sift.toml"]⟩] ++ ⟨["", "a", ".sift.toml"]⟩ :: [⟨["", ".sift.toml"]⟩] := by
    decide
  have hroot : (rootedSite "" ⟨["", ""]⟩).DeclaresRoot ⟨["", "a", ".sift.toml"]⟩ :=
    isRoot_iff.mp (by decide +kernel)
  have hagree : ∀ p ∈ [(⟨["", "a", "b", ".sift.toml"]⟩ : Path)] ++ [⟨["", "a", ".sift.toml"]⟩],
      (rootedSite "" ⟨["", ""]⟩).contents? p
        = (rootedSite "[output]\ncolor = false\n" ⟨["", "a", "b"]⟩).contents? p := by
    decide +kernel
  exact ⟨hwalk, hroot, hagree, load_inside_root hwalk hroot hagree⟩

end Site

end SearchQuery
