import SearchQuery.Files.FileSystem
import SearchQuery.Proofs.Files.Ancestors

/-!
# What a path names, and what a new file changes

To a program a path is the file that it names: `contents?` has the bytes of it, and whether there
is a file and what text it has follow from that.

Writing a file is the smallest change there is, and it still has to be said what it leaves
alone. The file is no directory, and neither was there one before, so every path leads where it
led (`follow_put`). A path that led to the place names the file, and all others name what they
named (`find?_put_of_ne`). Which paths these are cannot be told from their texts, but two paths
that mean the same cannot lead to different places (`resolve_sameAs`).
-/

namespace SearchQuery

namespace FileSystem

variable {fs : FileSystem} {here place other dir r r' : Place} {p q : Path} {bytes bytes' : ByteArray}
  {segments : List String}

/-! ## The file that a path names -/

/-- The bytes of the file that a path names, if it names a file. -/
def contents? (fs : FileSystem) (here : Place) (p : Path) : Option ByteArray :=
  match fs.find? here p with
  | some (.file bytes) => some bytes
  | _ => none

theorem contents?_eq_some : fs.contents? here p = some bytes ↔
    ∃ place, fs.resolve here p = .ok place ∧ fs.lookup? place = some (.file bytes) := by
  unfold contents? find?
  cases fs.resolve here p with
  | error e => simp
  | ok place =>
    simp only [Except.ok.injEq, exists_eq_left']
    cases fs.lookup? place with
    | none => simp
    | some entry => cases entry <;> simp

theorem isFile_eq (fs : FileSystem) (here : Place) (p : Path) :
    fs.isFile here p = (fs.contents? here p).isSome := by
  unfold isFile contents?
  cases fs.find? here p with
  | none => rfl
  | some entry => cases entry <;> rfl

theorem isFile_iff : fs.isFile here p = true ↔ ∃ bytes, fs.contents? here p = some bytes := by
  rw [isFile_eq, Option.isSome_iff_exists]

/-- The text of a file is decoded from its bytes. -/
theorem readText_of_contents? (h : fs.contents? here p = some bytes) :
    fs.readText here p = match String.fromUTF8? bytes with
      | none => .error .notText
      | some text => .ok text := by
  obtain ⟨place, hresolve, hentry⟩ := contents?_eq_some.mp h
  unfold readText
  cases hdecode : String.fromUTF8? bytes <;> simp only [hresolve, hentry, hdecode]

/-- Text can only be read from a file. -/
theorem isFile_of_readText {text : String} (h : fs.readText here p = .ok text) :
    fs.isFile here p = true := by
  unfold readText at h
  rw [isFile_iff]
  cases hresolve : fs.resolve here p with
  | error e =>
    rw [hresolve] at h
    cases h
  | ok place =>
    simp only [hresolve] at h
    cases hentry : fs.lookup? place with
    | none =>
      rw [hentry] at h
      cases h
    | some entry =>
      rw [hentry] at h
      cases entry with
      | directory => cases h
      | file bytes => exact ⟨bytes, contents?_eq_some.mpr ⟨place, hresolve, hentry⟩⟩

theorem fromUTF8?_toUTF8 (text : String) : String.fromUTF8? text.toUTF8 = some text := by
  unfold String.fromUTF8?
  rw [String.toUTF8_eq_toByteArray, dif_pos text.isValidUTF8]
  rfl

/-! ## Where a path leads -/

/-- There is a directory wherever a path leads through. -/
theorem follow_cons_eq_ok {segment : String} : fs.follow dir (segment :: segments) = .ok r ↔
    fs.lookup? dir = some .directory
      ∧ if Path.isIdle segment then fs.follow dir segments = .ok r
        else if segment = ".." then fs.follow dir.dropLast segments = .ok r
        else ¬ nameLimit < segment.utf8ByteSize ∧ fs.follow (dir ++ [segment]) segments = .ok r := by
  rw [follow]
  cases fs.lookup? dir with
  | none => simp
  | some entry =>
    cases entry with
    | file bytes => simp
    | directory =>
      simp only [true_and]
      split
      · rfl
      · split
        · rfl
        · split <;> simp_all

/-- Idle segments lead nowhere, so they can be left out. -/
theorem follow_stepsOf (h : fs.follow dir segments = .ok r) :
    fs.follow dir (Path.stepsOf segments) = .ok r := by
  induction segments generalizing dir with
  | nil => exact h
  | cons segment segments ih =>
    obtain ⟨hdir, hnext⟩ := follow_cons_eq_ok.mp h
    by_cases hidle : Path.isIdle segment = true
    · rw [if_pos hidle] at hnext
      have hskip : Path.stepsOf (segment :: segments) = Path.stepsOf segments := by
        simp [Path.stepsOf, hidle]
      rw [hskip]
      exact ih hnext
    · have hkeep : Path.stepsOf (segment :: segments) = segment :: Path.stepsOf segments := by
        simp [Path.stepsOf, hidle]
      rw [if_neg hidle] at hnext
      rw [hkeep, follow_cons_eq_ok, if_neg hidle]
      -- whether the step goes up or down, the rest starts from the same directory on both sides
      refine ⟨hdir, ?_⟩
      split at hnext
      · rw [if_pos ‹_›]
        exact ih hnext
      · rw [if_neg ‹_›]
        exact ⟨hnext.1, ih hnext.2⟩

theorem stepsOf_segments (p : Path) : Path.stepsOf p.segments = p.steps := by
  cases p.shape with
  | root rest hne => exact (Path.start_steps (Path.splitStart_root hne)).2.symm
  | here rest => rfl
  | named segment rest h => exact (Path.start_steps (Path.splitStart_named h)).2.symm
  | blank => rfl
  | empty => rfl

theorem isAbsolute_iff (p : Path) : p.isAbsolute = true ↔ p.start = .root := by
  cases p.shape with
  | root rest hne =>
    obtain ⟨segment, rest, rfl⟩ := List.exists_cons_of_ne_nil hne
    exact iff_of_true rfl rfl
  | here rest => exact iff_of_false (by simp [Path.isAbsolute]) (by simp [Path.start, Path.splitStart])
  | named segment rest h =>
    rw [(Path.start_steps (Path.splitStart_named h)).1]
    refine iff_of_false ?_ Path.Start.noConfusion
    have hne : segment ≠ "" := by
      rintro rfl
      exact absurd h (by decide)
    simp [Path.isAbsolute, hne]
  | blank => exact iff_of_false (by decide) (by decide)
  | empty => exact iff_of_false (by decide) (by decide)

/-- A path leads where its start and its steps lead. -/
theorem follow_steps (h : fs.resolve here p = .ok r) :
    fs.follow (if p.start = .root then [] else here) p.steps = .ok r := by
  rw [← stepsOf_segments]
  refine follow_stepsOf ?_
  unfold resolve at h
  split at h
  · cases h
  · split at h
    · cases h
    · split at h
      · cases h
      · split at h
        · rwa [if_pos ((isAbsolute_iff p).mp ‹_›)]
        · rwa [if_neg (mt (isAbsolute_iff p).mpr ‹_›)]

/-- **Paths that mean the same do not lead to different places.** -/
theorem resolve_sameAs (h : p.sameAs q = true) (hp : fs.resolve here p = .ok r)
    (hq : fs.resolve here q = .ok r') : r = r' := by
  rw [Path.sameAs, Bool.and_eq_true, decide_eq_true_eq, decide_eq_true_eq] at h
  have hp' := follow_steps hp
  rw [h.1, h.2, follow_steps hq] at hp'
  exact (Except.ok.inj hp').symm

/-! ## A file that is written -/

theorem lookup?_put_of_ne {entry : Entry} (h : other ≠ place) :
    (fs.put place entry).lookup? other = fs.lookup? other := by
  unfold lookup? put
  dsimp only
  rw [if_neg h]

section

variable (hfree : fs.lookup? place ≠ some .directory)

include hfree

theorem lookup?_put_self (entry : Entry) : (fs.put place entry).lookup? place = some entry := by
  -- the root is a directory, so it is not the place of the file
  have hne : place ≠ [] := by
    rintro rfl
    exact hfree rfl
  unfold lookup? put
  dsimp only
  rw [if_neg hne, if_pos rfl]

/-- There are the same directories as before. -/
theorem lookup?_put_directory : (fs.put place (.file bytes)).lookup? other = some .directory ↔
    fs.lookup? other = some .directory := by
  by_cases h : other = place
  · subst h
    rw [lookup?_put_self hfree]
    exact iff_of_false (by simp) hfree
  · rw [lookup?_put_of_ne h]

/-- **Every path leads where it led.** -/
theorem follow_put : (fs.put place (.file bytes)).follow dir segments = .ok r ↔
    fs.follow dir segments = .ok r := by
  induction segments generalizing dir with
  | nil => rw [follow, follow]
  | cons segment segments ih =>
    -- a path looks for directories only on its way, and these are the same
    rw [follow_cons_eq_ok, follow_cons_eq_ok, lookup?_put_directory hfree, ih, ih, ih]

theorem resolve_put : (fs.put place (.file bytes)).resolve here p = .ok r ↔
    fs.resolve here p = .ok r := by
  unfold resolve
  simp only [apply_ite (· = Except.ok r), follow_put hfree]

/-- **A path that does not lead to the file names what it named.** -/
theorem find?_put_of_ne (h : fs.resolve here p ≠ .ok place) :
    (fs.put place (.file bytes)).find? here p = fs.find? here p := by
  unfold find?
  cases hresolve : fs.resolve here p with
  | error e =>
    -- a path that led nowhere leads nowhere now, though perhaps for another reason
    cases hafter : (fs.put place (.file bytes)).resolve here p with
    | error e' => rfl
    | ok r' =>
      rw [(resolve_put hfree).mp hafter] at hresolve
      cases hresolve
  | ok r =>
    have hne : r ≠ place := fun heq => h (heq ▸ hresolve)
    rw [(resolve_put hfree).mpr hresolve]
    exact lookup?_put_of_ne hne

/-- The path that led to the place names a file with the text. -/
theorem readText_put {text : String} (h : fs.resolve here p = .ok place) :
    (fs.put place (.file text.toUTF8)).readText here p = .ok text := by
  have hbytes : (fs.put place (.file text.toUTF8)).contents? here p = some text.toUTF8 :=
    contents?_eq_some.mpr ⟨place, (resolve_put hfree).mpr h, lookup?_put_self hfree _⟩
  rw [readText_of_contents? hbytes, fromUTF8?_toUTF8]

end

/-- Where nothing was, **a path names the new file if it led to its place**, and what it named
before if not. -/
theorem contents?_put (hvacant : fs.lookup? place = none) :
    (fs.put place (.file bytes)).contents? here p = some bytes' ↔
      fs.resolve here p = .ok place ∧ bytes' = bytes ∨ fs.contents? here p = some bytes' := by
  have hfree : fs.lookup? place ≠ some .directory := by simp [hvacant]
  -- the new file changes what stands at the place, not where a path leads
  rw [contents?_eq_some, contents?_eq_some]
  simp only [resolve_put hfree]
  constructor
  · rintro ⟨r, hr, hentry⟩
    by_cases h : r = place
    · subst h
      rw [lookup?_put_self hfree] at hentry
      cases hentry
      exact .inl ⟨hr, rfl⟩
    · rw [lookup?_put_of_ne h] at hentry
      exact .inr ⟨r, hr, hentry⟩
  · rintro (⟨hr, rfl⟩ | ⟨r, hr, hentry⟩)
    · exact ⟨place, hr, lookup?_put_self hfree _⟩
    · refine ⟨r, hr, ?_⟩
      rw [lookup?_put_of_ne, hentry]
      rintro rfl
      rw [hvacant] at hentry
      cases hentry

/-- **A text can be written wherever a path leads, except over a directory.** -/
theorem writeText_eq_ok {fs' : FileSystem} {text : String} :
    fs.writeText here p text = .ok fs' ↔ ∃ place, fs.resolve here p = .ok place
      ∧ fs.lookup? place ≠ some .directory ∧ fs' = fs.put place (.file text.toUTF8) := by
  unfold writeText
  cases fs.resolve here p with
  | error e => simp
  | ok place =>
    simp only [Except.ok.injEq, exists_eq_left']
    cases fs.lookup? place with
    | none => simp [eq_comm]
    | some entry => cases entry <;> simp [eq_comm]

end FileSystem

end SearchQuery
