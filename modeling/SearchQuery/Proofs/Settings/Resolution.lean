import Mathlib.Data.List.Forall2
import SearchQuery.Proofs.Settings.Discovery

/-!
# What several files come to

Loading a list of files goes through all of them before anything is decided, and then puts
the layers over the defaults from the last to the first. Seen from outside it is a search
from the first to the last, one for each setting: `FirstSet` says that a value is the one in
the first layer that sets it. `firstSet_iff` ties the search to the layering, setting by
setting, so no setting ever depends on another.

Failing is a search as well. The first file that is no layer decides, and it is the one that
the error speaks of.
-/

namespace SearchQuery

variable {α β ε : Type}

/-! ## Going through a list where a step may fail -/

theorem mapM_eq_ok {f : α → Except ε β} {xs : List α} {ys : List β} :
    xs.mapM f = .ok ys ↔ List.Forall₂ (fun x y => f x = .ok y) xs ys := by
  induction xs generalizing ys with
  | nil => cases ys <;> simp [pure, Except.pure]
  | cons x xs ih =>
    rw [List.mapM_cons]
    cases hx : f x with
    | error e => cases ys <;> simp [bind, Except.bind, hx]
    | ok y =>
      cases hxs : xs.mapM f with
      | error e => cases ys <;> simp [bind, Except.bind, hx, hxs, ← ih]
      | ok rest => cases ys <;> simp [bind, Except.bind, pure, Except.pure, hx, hxs, ← ih]

/-- What fails is the first that fails. -/
theorem mapM_eq_error {f : α → Except ε β} {xs : List α} {e : ε} :
    xs.mapM f = .error e ↔ ∃ before x after, xs = before ++ x :: after
      ∧ (∀ b ∈ before, ∃ y, f b = .ok y) ∧ f x = .error e := by
  induction xs with
  | nil => simp [pure, Except.pure]
  | cons a xs ih =>
    rw [List.mapM_cons]
    constructor
    · intro h
      cases ha : f a with
      | error e' =>
        rw [ha] at h
        cases h
        exact ⟨[], a, xs, rfl, by simp, ha⟩
      | ok y =>
        -- the first step succeeds, so it is one of the others that fails
        have hxs : xs.mapM f = .error e := by
          rw [ha] at h
          cases hxs : xs.mapM f with
          | error e' => rw [hxs] at h; cases h; rfl
          | ok rest => rw [hxs] at h; cases h
        obtain ⟨before, x, after, rfl, hbefore, hx⟩ := ih.mp hxs
        exact ⟨a :: before, x, after, rfl, List.forall_mem_cons.mpr ⟨⟨y, ha⟩, hbefore⟩, hx⟩
    · rintro ⟨before, x, after, hsplit, hbefore, hx⟩
      cases before with
      | nil =>
        obtain ⟨rfl, rfl⟩ := List.cons.inj hsplit
        rw [hx]
        rfl
      | cons b before =>
        obtain ⟨rfl, rfl⟩ := List.cons.inj hsplit
        obtain ⟨⟨y, hy⟩, hbefore⟩ := List.forall_mem_cons.mp hbefore
        rw [hy, ih.mpr ⟨before, x, after, rfl, hbefore, hx⟩]
        rfl

theorem mapM_congr {f g : α → Except ε β} {xs : List α} (h : ∀ x ∈ xs, f x = g x) :
    xs.mapM f = xs.mapM g := by
  induction xs with
  | nil => rfl
  | cons x xs ih =>
    obtain ⟨hx, hxs⟩ := List.forall_mem_cons.mp h
    rw [List.mapM_cons, List.mapM_cons, hx, ih hxs]

/-! ## The first layer that sets something -/

/-- The value is that of the first layer that sets it, or the fallback where none does. -/
def FirstSet (setting : Layer → Option α) (fallback : α) (layers : List Layer) (value : α) : Prop :=
  (∃ nearer l further, layers = nearer ++ l :: further ∧ (∀ m ∈ nearer, setting m = none)
      ∧ setting l = some value)
    ∨ (∀ l ∈ layers, setting l = none) ∧ value = fallback

variable {setting : Layer → Option α} {fallback value : α} {l : Layer} {layers : List Layer}

theorem firstSet_cons : FirstSet setting fallback (l :: layers) value ↔
    setting l = some value ∨ setting l = none ∧ FirstSet setting fallback layers value := by
  constructor
  · rintro (⟨nearer, m, further, hsplit, hnearer, hm⟩ | ⟨hnone, hvalue⟩)
    · cases nearer with
      | nil =>
        obtain ⟨rfl, rfl⟩ := List.cons.inj hsplit
        exact .inl hm
      | cons n nearer =>
        obtain ⟨rfl, rfl⟩ := List.cons.inj hsplit
        obtain ⟨hl, hnearer⟩ := List.forall_mem_cons.mp hnearer
        exact .inr ⟨hl, .inl ⟨nearer, m, further, rfl, hnearer, hm⟩⟩
    · obtain ⟨hl, hnone⟩ := List.forall_mem_cons.mp hnone
      exact .inr ⟨hl, .inr ⟨hnone, hvalue⟩⟩
  · rintro (hl | ⟨hl, ⟨nearer, m, further, rfl, hnearer, hm⟩ | ⟨hnone, hvalue⟩⟩)
    · exact .inl ⟨[], l, layers, rfl, by simp, hl⟩
    · exact .inl ⟨l :: nearer, m, further, rfl, List.forall_mem_cons.mpr ⟨hl, hnearer⟩, hm⟩
    · exact .inr ⟨List.forall_mem_cons.mpr ⟨hl, hnone⟩, hvalue⟩

/-- **The search from the front finds what putting over from the back leaves on top.** -/
theorem firstSet_iff : FirstSet setting fallback layers value ↔
    value = layers.foldr (fun l v => (setting l).getD v) fallback := by
  induction layers with
  | nil => simp [FirstSet]
  | cons l layers ih =>
    rw [firstSet_cons, ih, List.foldr_cons]
    cases setting l with
    | none => simp
    | some v => simp [eq_comm]

namespace Settings

/-- What is read off settings after layering, when a layer decides it by one of its settings. -/
theorem foldr_overlay (get : Settings → α) (setting : Layer → Option α)
    (hget : ∀ l s, get (overlay l s) = (setting l).getD (get s)) (files : List (Path × Layer))
    (s : Settings) :
    get (files.foldr (fun l s => overlay l.2 s) s)
      = (files.map Prod.snd).foldr (fun l v => (setting l).getD v) (get s) := by
  induction files with
  | nil => rfl
  | cons file files ih => rw [List.foldr_cons, hget, ih, List.map_cons, List.foldr_cons]

/-- **Each setting is that of the first layer that sets it**, whatever the others are. -/
theorem eq_ofLayers_iff {s : Settings} {files : List (Path × Layer)} : s = ofLayers files ↔
    FirstSet Layer.balanceSingleQuotes? false (files.map Prod.snd) s.query.balanceSingleQuotes
      ∧ FirstSet Layer.format? .tree (files.map Prod.snd) s.output.format
      ∧ FirstSet Layer.color? true (files.map Prod.snd) s.output.color
      ∧ s.origin = files.head?.bind fun file => file.1.parent? := by
  have hquotes := foldr_overlay (fun s => s.query.balanceSingleQuotes) Layer.balanceSingleQuotes?
    (fun _ _ => rfl) files default
  have hformat := foldr_overlay (fun s => s.output.format) Layer.format? (fun _ _ => rfl) files default
  have hcolor := foldr_overlay (fun s => s.output.color) Layer.color? (fun _ _ => rfl) files default
  rw [firstSet_iff, firstSet_iff, firstSet_iff]
  constructor
  · rintro rfl
    exact ⟨hquotes, hformat, hcolor, rfl⟩
  · obtain ⟨⟨quotes⟩, ⟨format, color⟩, origin⟩ := s
    rintro ⟨rfl, rfl, rfl, rfl⟩
    rw [ofLayers]
    simp only [default] at hquotes hformat hcolor
    -- each setting is a fold of its own, in which the other two do not occur
    rw [← hquotes, ← hformat, ← hcolor]
    rfl

end Settings

/-! ## Files that give a layer, and files that are at fault -/

namespace Site

variable {site : Site} {p : Path} {paths : List Path} {e : SettingsError}

/-- The file can be read as text, and the text describes the layer. -/
def Gives (site : Site) (p : Path) (l : Layer) : Prop :=
  ∃ text, site.files.readText site.directory p = .ok text ∧ Layer.read text = .ok l

/-- The file cannot be read as text, or its text does not describe a layer. -/
inductive Faulty (site : Site) (p : Path) : SettingsError → Prop where
  | unreadable {error : FileError} : site.files.readText site.directory p = .error error →
      Faulty site p (.unreadable p error)
  | malformed {text : String} {error : LayerError} :
      site.files.readText site.directory p = .ok text → Layer.read text = .error error →
      Faulty site p (.malformed p text error)

theorem layer_eq_error : site.layer p = .error e ↔ site.Faulty p e := by
  constructor
  · intro h
    unfold layer Layer.readFrom at h
    split at h
    · rename_i error htext
      cases h
      exact .unreadable htext
    · rename_i text htext
      split at h
      · rename_i error hread
        cases h
        exact .malformed htext hread
      · cases h
  · intro h
    unfold layer Layer.readFrom
    cases h with
    | unreadable htext => rw [htext]
    | malformed htext hread => simp only [htext, hread]

theorem Faulty.not_gives (h : site.Faulty p e) : ¬ ∃ l, site.Gives p l := by
  rintro ⟨l, hl⟩
  have hok : site.layer p = .ok l := layer_eq_ok.mpr hl
  rw [layer_eq_error.mpr h] at hok
  cases hok

/-- The words of an error speak of the file. -/
theorem Faulty.message_eq (h : site.Faulty p e) :
    ∃ verb reason, e.message = "failed to " ++ verb ++ " config file " ++ p.text ++ ": " ++ reason := by
  cases h with
  | @unreadable error _ => exact ⟨"read", error.message, rfl⟩
  | @malformed text error _ _ => exact ⟨"parse", error.excerpt text, rfl⟩

/-- The layer of a file, with the path that it comes from. -/
def placedLayer (site : Site) (p : Path) : Except SettingsError (Path × Layer) :=
  (site.layer p).map fun l => (p, l)

theorem placedLayer_eq_ok {file : Path × Layer} :
    site.placedLayer p = .ok file ↔ file.1 = p ∧ site.Gives p file.2 := by
  obtain ⟨q, l⟩ := file
  unfold placedLayer
  cases h : site.layer p with
  | error e =>
    refine iff_of_false (fun h => by cases h) ?_
    rintro ⟨_, hl⟩
    exact (layer_eq_error.mp h).not_gives ⟨l, hl⟩
  | ok m =>
    constructor
    · intro hmap
      cases hmap
      exact ⟨rfl, layer_eq_ok.mp h⟩
    · rintro ⟨rfl, hl⟩
      rw [layer_eq_ok.mpr hl] at h
      cases h
      rfl

theorem placedLayer_eq_error : site.placedLayer p = .error e ↔ site.Faulty p e := by
  rw [← layer_eq_error]
  unfold placedLayer
  cases site.layer p <;> simp [Except.map]

theorem loadFiles_eq (site : Site) (paths : List Path) :
    site.loadFiles paths = (paths.mapM site.placedLayer).map Settings.ofLayers := rfl

/-- Files that are the same layers in two sites are loaded alike. -/
theorem loadFiles_congr {site' : Site} (h : ∀ p ∈ paths, site.layer p = site'.layer p) :
    site.loadFiles paths = site'.loadFiles paths := by
  rw [loadFiles_eq, loadFiles_eq, mapM_congr fun p hp => ?_]
  rw [placedLayer, placedLayer, h p hp]

theorem forall₂_placedLayer {files : List (Path × Layer)} :
    List.Forall₂ (fun p file => site.placedLayer p = .ok file) paths files ↔
      files.map Prod.fst = paths ∧ List.Forall₂ site.Gives paths (files.map Prod.snd) := by
  induction paths generalizing files with
  | nil => cases files <;> simp
  | cons p paths ih =>
    cases files with
    | nil => simp
    | cons file files =>
      rw [List.forall₂_cons, placedLayer_eq_ok, ih, List.map_cons, List.map_cons, List.cons.injEq,
        List.forall₂_cons]
      exact and_and_and_comm

theorem exists_gives {layers : List Layer} (h : List.Forall₂ site.Gives paths layers)
    (hp : p ∈ paths) : ∃ l, site.Gives p l := by
  induction h with
  | nil => cases hp
  | cons hl _ ih =>
    rcases List.mem_cons.mp hp with rfl | hp
    · exact ⟨_, hl⟩
    · exact ih hp

/-- The first file at fault decides that loading fails, and why. -/
theorem loadFiles_eq_error : site.loadFiles paths = .error e ↔
    ∃ before p after, paths = before ++ p :: after ∧ (∀ q ∈ before, ∃ l, site.Gives q l)
      ∧ site.Faulty p e := by
  have hmap : site.loadFiles paths = .error e ↔ paths.mapM site.placedLayer = .error e := by
    rw [loadFiles_eq]
    cases paths.mapM site.placedLayer <;> simp [Except.map]
  have hgives : ∀ q, (∃ file, site.placedLayer q = .ok file) ↔ ∃ l, site.Gives q l := by
    intro q
    constructor
    · rintro ⟨file, hfile⟩
      exact ⟨file.2, (placedLayer_eq_ok.mp hfile).2⟩
    · rintro ⟨l, hl⟩
      exact ⟨(q, l), placedLayer_eq_ok.mpr ⟨rfl, hl⟩⟩
  rw [hmap, mapM_eq_error]
  simp only [hgives, placedLayer_eq_error]

theorem loadFiles_eq_ok {s : Settings} : site.loadFiles paths = .ok s ↔
    ∃ files, files.map Prod.fst = paths ∧ List.Forall₂ site.Gives paths (files.map Prod.snd)
      ∧ s = Settings.ofLayers files := by
  have hmap : site.loadFiles paths = .ok s ↔
      ∃ files, paths.mapM site.placedLayer = .ok files ∧ s = Settings.ofLayers files := by
    rw [loadFiles_eq]
    cases paths.mapM site.placedLayer <;> simp [Except.map, eq_comm]
  rw [hmap]
  simp only [mapM_eq_ok, forall₂_placedLayer, and_assoc]

/-! ## At the top -/

/--
**What a list of files comes to.** Loading fails exactly when one of the files cannot be read
as text or is no layer; the error is that of the first such file and speaks of its path. If all
files are layers, each of the three settings is that of the first layer that sets it, or the
default, whatever the other two are, and the settings originate in the directory of the first
file.
-/
theorem loadFiles_resolves (site : Site) (paths : List Path) :
    ((∃ e, site.loadFiles paths = .error e) ↔ ∃ p ∈ paths, ¬ ∃ l, site.Gives p l)
      ∧ (∀ e, site.loadFiles paths = .error e ↔ ∃ before p after, paths = before ++ p :: after
          ∧ (∀ q ∈ before, ∃ l, site.Gives q l) ∧ site.Faulty p e)
      ∧ (∀ p e, site.Faulty p e → ∃ verb reason,
          e.message = "failed to " ++ verb ++ " config file " ++ p.text ++ ": " ++ reason)
      ∧ ∀ s, site.loadFiles paths = .ok s ↔ ∃ layers, List.Forall₂ site.Gives paths layers
          ∧ FirstSet Layer.balanceSingleQuotes? false layers s.query.balanceSingleQuotes
          ∧ FirstSet Layer.format? .tree layers s.output.format
          ∧ FirstSet Layer.color? true layers s.output.color
          ∧ s.origin = paths.head?.bind Path.parent? := by
  have hhead : ∀ files : List (Path × Layer),
      (files.head?.bind fun file => file.1.parent?) = (files.map Prod.fst).head?.bind Path.parent? := by
    intro files
    cases files <;> rfl
  refine ⟨?_, fun e => loadFiles_eq_error, fun p e h => h.message_eq, fun s => ?_⟩
  · constructor
    · rintro ⟨e, he⟩
      obtain ⟨before, p, after, rfl, _, hp⟩ := loadFiles_eq_error.mp he
      exact ⟨p, by simp, hp.not_gives⟩
    · rintro ⟨p, hp, hnone⟩
      cases hload : site.loadFiles paths with
      | error e => exact ⟨e, rfl⟩
      | ok s =>
        -- every file would be a layer
        obtain ⟨files, _, hgives, _⟩ := loadFiles_eq_ok.mp hload
        exact absurd (exists_gives hgives hp) hnone
  · rw [loadFiles_eq_ok]
    constructor
    · rintro ⟨files, rfl, hgives, hs⟩
      rw [Settings.eq_ofLayers_iff, hhead] at hs
      exact ⟨files.map Prod.snd, hgives, hs⟩
    · rintro ⟨layers, hgives, hs⟩
      have hlen := hgives.length_eq
      -- there is a layer for each path, so the two lists can be put together
      have hfst : (paths.zip layers).map Prod.fst = paths := List.map_fst_zip (Nat.le_of_eq hlen)
      have hsnd : (paths.zip layers).map Prod.snd = layers :=
        List.map_snd_zip (Nat.le_of_eq hlen.symm)
      refine ⟨paths.zip layers, hfst, by rwa [hsnd], ?_⟩
      rw [Settings.eq_ofLayers_iff, hhead, hfst, hsnd]
      exact hs

end Site

end SearchQuery
