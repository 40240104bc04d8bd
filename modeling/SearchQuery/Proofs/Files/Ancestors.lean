import Mathlib.Data.List.DropRight
import SearchQuery.Files.Path

/-!
# The directories around a directory

What a path means is where it starts and what its steps are. Going up takes the last step away
and leaves the start as it is, whatever idle segments stand between the steps or behind them
(`parent?_of_steps`), and a path without steps has no parent, except that the directory that is
named by a leading `.` lies in the one that is not named. `Outward` is the chain of parents that
this gives, and `outward_ancestors` says that `Path.ancestors` is the whole of it.

The steps get fewer from one directory to the next, so no two of them mean the same, and
neither do the paths to one name in each of them.
-/

namespace SearchQuery

namespace Path

variable {segment name : String} {rest before : List String} {p q : Path}

/-! ## What a path means -/

theorem splitStart_root (h : rest ≠ []) : (⟨"" :: rest⟩ : Path).splitStart = (.root, rest) := by
  obtain ⟨segment, rest, rfl⟩ := List.exists_cons_of_ne_nil h
  rfl

theorem splitStart_named (h : isIdle segment = false) :
    (⟨segment :: rest⟩ : Path).splitStart = (.unnamed, segment :: rest) := by
  simp only [isIdle, Bool.or_eq_false_iff, decide_eq_false_iff_not] at h
  unfold splitStart
  split <;> simp_all

/-- The ways in which a path can start. -/
inductive Shape : Path → Prop where
  | root (rest : List String) : rest ≠ [] → Shape ⟨"" :: rest⟩
  | here (rest : List String) : Shape ⟨"." :: rest⟩
  | named (segment : String) (rest : List String) : isIdle segment = false →
      Shape ⟨segment :: rest⟩
  | blank : Shape ⟨[""]⟩
  | empty : Shape ⟨[]⟩

theorem shape (p : Path) : p.Shape := by
  obtain ⟨segments⟩ := p
  cases segments with
  | nil => exact .empty
  | cons segment rest =>
    by_cases hempty : segment = ""
    · subst hempty
      cases rest with
      | nil => exact .blank
      | cons _ _ => exact .root _ (List.cons_ne_nil _ _)
    · by_cases hdot : segment = "."
      · subst hdot
        exact .here rest
      · exact .named segment rest (by simp [isIdle, hempty, hdot])

/-- The segments of a list that lead somewhere. -/
def stepsOf (segments : List String) : List String :=
  segments.filter fun s => !isIdle s

theorem stepsOf_append (segments segments' : List String) :
    stepsOf (segments ++ segments') = stepsOf segments ++ stepsOf segments' :=
  List.filter_append ..

theorem stepsOf_singleton (h : isIdle segment = false) : stepsOf [segment] = [segment] := by
  simp [stepsOf, h]

theorem start_steps {at' : Start} (h : p.splitStart = (at', rest)) :
    p.start = at' ∧ p.steps = stepsOf rest := by
  rw [start, steps, h]
  exact ⟨rfl, rfl⟩

/-! ## Idle segments -/

/-- Without its idle end, a list of segments is empty or ends in a step. -/
theorem dropIdle_cases (segments : List String) :
    (dropIdle segments = [] ∧ stepsOf segments = [])
      ∨ ∃ before last, dropIdle segments = before ++ [last] ∧ before <+: segments
        ∧ isIdle last = false ∧ stepsOf segments = stepsOf before ++ [last] := by
  -- idle segments are dropped from the end, so the induction is on the end
  induction segments using List.reverseRecOn with
  | nil => exact .inl ⟨rfl, rfl⟩
  | append_singleton segments last ih =>
    have hconcat : dropIdle (segments ++ [last])
        = if isIdle last then dropIdle segments else segments ++ [last] :=
      List.rdropWhile_concat isIdle segments last
    rw [hconcat, stepsOf_append]
    by_cases hidle : isIdle last = true
    · have hlast : stepsOf [last] = [] := by simp [stepsOf, hidle]
      rw [if_pos hidle, hlast, List.append_nil]
      obtain hnone | ⟨before, step, hdrop, hpre, hstep, hsteps⟩ := ih
      · exact .inl hnone
      · exact .inr ⟨before, step, hdrop, hpre.trans (List.prefix_append _ _), hstep, hsteps⟩
    · have hstep := Bool.eq_false_iff.mpr hidle
      rw [if_neg hidle, stepsOf_singleton hstep]
      exact .inr ⟨segments, last, rfl, List.prefix_append _ _, hstep, rfl⟩

theorem stepsOf_dropIdle (segments : List String) :
    stepsOf (dropIdle segments) = stepsOf segments := by
  obtain ⟨hdrop, hsteps⟩ | ⟨before, last, hdrop, _, hlast, hsteps⟩ := dropIdle_cases segments
  · rw [hdrop, hsteps]
    rfl
  · rw [hdrop, hsteps, stepsOf_append, stepsOf_singleton hlast]

theorem dropIdle_prefix_self (segments : List String) : dropIdle segments <+: segments :=
  List.rdropWhile_prefix isIdle segments

/-! ## Going up -/

/-- A path that begins with a step still begins with it when segments are cut off its end. -/
theorem splitStart_before (h : isIdle segment = false) (hpre : before <+: segment :: rest) :
    (⟨before⟩ : Path).splitStart = (.unnamed, before) := by
  cases before with
  | nil => rfl
  | cons first more =>
    obtain rfl : first = segment := (List.cons_prefix_cons.mp hpre).1
    exact splitStart_named h

theorem parent?_of_dropIdle {last : String} (h : dropIdle p.splitStart.2 = before ++ [last]) :
    p.parent? = match p.start with
      | .root => some ⟨"" :: (if (dropIdle before).isEmpty then [""] else dropIdle before)⟩
      | .here => some ⟨"." :: dropIdle before⟩
      | .unnamed => some ⟨dropIdle before⟩ := by
  have hsome : (before ++ [last]).isEmpty = false := by simp
  rcases hsplit : p.splitStart with ⟨at', rest⟩
  rw [hsplit] at h
  unfold parent? start
  rw [hsplit]
  cases at' <;> simp only [h, List.dropLast_concat, hsome, Bool.false_eq_true, if_false]

/-- A path without steps has no parent, unless a leading `.` can be left out. -/
theorem parent?_of_no_steps (h : p.steps = []) :
    p.parent? = if p.start = .here then some ⟨[]⟩ else none := by
  obtain ⟨hdrop, _⟩ | ⟨before, last, _, _, _, hsteps⟩ := dropIdle_cases p.splitStart.2
  · rcases hsplit : p.splitStart with ⟨at', rest⟩
    rw [hsplit] at hdrop
    unfold parent? start
    rw [hsplit]
    -- only a leading `.` is left, or nothing that could be taken away
    cases at' <;> simp only [hdrop, List.isEmpty_nil, if_true] <;> rfl
  · have hcons : p.steps = stepsOf before ++ [last] := hsteps
    rw [h] at hcons
    exact absurd hcons.symm (List.concat_ne_nil last (stepsOf before))

/-- What is left of the segments before the last step is put together as it was parted. -/
theorem parent?_before {last : String} (hdrop : dropIdle p.splitStart.2 = before ++ [last])
    (hpre : before <+: p.splitStart.2) :
    ∃ q, p.parent? = some q ∧ q.start = p.start ∧ q.steps = stepsOf before := by
  have houter : stepsOf (dropIdle before) = stepsOf before := stepsOf_dropIdle before
  have hup := parent?_of_dropIdle hdrop
  cases p.shape with
  | root rest hne =>
    obtain ⟨hstart, _⟩ := start_steps (splitStart_root hne)
    rw [hstart] at hup ⊢
    by_cases hnil : dropIdle before = []
    · -- the root alone is written with a blank segment behind its slash
      rw [hnil] at houter hup
      exact ⟨_, hup, rfl, houter⟩
    · rw [if_neg (mt List.isEmpty_iff.mp hnil)] at hup
      obtain ⟨hstart', hsteps⟩ := start_steps (splitStart_root hnil)
      exact ⟨_, hup, hstart', hsteps.trans houter⟩
  | here rest => exact ⟨_, hup, rfl, houter⟩
  | named segment rest hsegment =>
    rw [splitStart_named hsegment] at hpre
    obtain ⟨hstart, _⟩ := start_steps (splitStart_named hsegment)
    rw [hstart] at hup ⊢
    have hbefore := (dropIdle_prefix_self before).trans hpre
    obtain ⟨hstart', hsteps⟩ := start_steps (splitStart_before hsegment hbefore)
    exact ⟨_, hup, hstart', hsteps.trans houter⟩
  | blank => exact absurd hdrop.symm (List.concat_ne_nil last before)
  | empty => exact absurd hdrop.symm (List.concat_ne_nil last before)

/-- **A path with steps has a parent**, which has its start and all its steps but the last. -/
theorem parent?_of_steps (h : p.steps ≠ []) :
    ∃ q name, p.parent? = some q ∧ q.start = p.start ∧ p.steps = q.steps ++ [name] := by
  obtain ⟨_, hnone⟩ | ⟨before, last, hdrop, hpre, _, hsteps⟩ := dropIdle_cases p.splitStart.2
  · exact absurd hnone h
  · obtain ⟨q, hq, hstart, heq⟩ := parent?_before hdrop hpre
    rw [← heq] at hsteps
    exact ⟨q, last, hq, hstart, hsteps⟩

/-! ## The chain of parents -/

/-- The directories from a path outward: each is the parent of the one before it. -/
inductive Outward : Path → List Path → Prop where
  /-- There is nothing around a path without steps. -/
  | top {p : Path} : p.start ≠ .here → p.steps = [] → Outward p [p]
  /-- The current directory by its name, and without it. -/
  | here {p : Path} : p.start = .here → p.steps = [] → Outward p [p, ⟨[]⟩]
  /-- The parent is the path without its last step. -/
  | up {p q : Path} {name : String} {dirs : List Path} : p.parent? = some q → q.start = p.start →
      p.steps = q.steps ++ [name] → Outward q dirs → Outward p (p :: dirs)

/-- How many directories are around a path. -/
def height (p : Path) : Nat :=
  p.steps.length + if p.start = .here then 1 else 0

theorem height_le (p : Path) : p.height ≤ p.segments.length := by
  have hsteps : ∀ segments, (stepsOf segments).length ≤ segments.length := fun segments =>
    List.length_filter_le _ segments
  cases p.shape with
  | root rest hne =>
    obtain ⟨hstart, hrest⟩ := start_steps (splitStart_root hne)
    rw [height, hstart, hrest, if_neg Start.noConfusion]
    exact Nat.le_succ_of_le (hsteps rest)
  | here rest => exact Nat.succ_le_succ (hsteps rest)
  | named segment rest hsegment =>
    obtain ⟨hstart, hrest⟩ := start_steps (splitStart_named hsegment)
    rw [height, hstart, hrest, if_neg Start.noConfusion]
    exact hsteps (segment :: rest)
  | blank => decide
  | empty => decide

theorem height_of_parent {name : String} (hstart : q.start = p.start)
    (hsteps : p.steps = q.steps ++ [name]) : p.height = q.height + 1 := by
  rw [height, height, hsteps, hstart, List.length_append, List.length_singleton]
  omega

/-- With a step for each directory around the path, the walk up comes to its end. -/
theorem outward_ancestorsWithin {fuel : Nat} (h : p.height < fuel) :
    Outward p (p.ancestorsWithin fuel) := by
  induction fuel generalizing p with
  | zero => exact absurd h (Nat.not_lt_zero _)
  | succ fuel ih =>
    rw [ancestorsWithin]
    by_cases hsteps : p.steps = []
    · rw [parent?_of_no_steps hsteps]
      by_cases hhere : p.start = .here
      · rw [if_pos hhere]
        -- one step is left, and it meets the directory that is not named
        have hheight : p.height = 1 := by rw [height, hsteps, if_pos hhere, List.length_nil]
        obtain ⟨more, rfl⟩ := Nat.exists_eq_succ_of_ne_zero (show fuel ≠ 0 by omega)
        exact .here hhere hsteps
      · rw [if_neg hhere]
        exact .top hhere hsteps
    · obtain ⟨q, name, hq, hstart, heq⟩ := parent?_of_steps hsteps
      have hheight := height_of_parent hstart heq
      rw [hq]
      -- the parent is lower by one, and so is the fuel
      exact .up hq hstart heq (ih (by omega))

/-- **The ancestors of a path are all the directories around it.** -/
theorem outward_ancestors (p : Path) : Outward p p.ancestors :=
  outward_ancestorsWithin (Nat.lt_succ_of_le (Nat.le_succ_of_le p.height_le))

/-- No directory around a path is higher than the path. -/
theorem Outward.height_le {dirs : List Path} (h : Outward p dirs) :
    ∀ dir ∈ dirs, dir.height ≤ p.height := by
  induction h with
  | top _ _ =>
    intro dir hdir
    rw [List.mem_singleton.mp hdir]
  | here _ _ =>
    intro dir hdir
    rcases List.mem_cons.mp hdir with rfl | hdir
    · exact Nat.le_refl _
    · rw [List.mem_singleton.mp hdir]
      exact Nat.zero_le _
  | up _ hstart hsteps _ ih =>
    intro dir hdir
    have hheight := height_of_parent hstart hsteps
    rcases List.mem_cons.mp hdir with rfl | hdir
    · exact Nat.le_refl _
    · have hle := ih dir hdir
      omega

/-- The heights get smaller on the way up. -/
theorem Outward.pairwise {dirs : List Path} (h : Outward p dirs) :
    dirs.Pairwise fun dir outer => outer.height < dir.height := by
  induction h with
  | top _ _ => exact List.pairwise_singleton _ _
  | here hstart hsteps =>
    refine List.pairwise_pair.mpr ?_
    rw [height, height, hstart, hsteps]
    decide
  | up _ hstart hsteps hup ih =>
    refine List.pairwise_cons.mpr ⟨fun outer houter => ?_, ih⟩
    have hheight := height_of_parent hstart hsteps
    -- every directory from the parent on is no higher than the parent, which is lower than the path
    have hle := hup.height_le outer houter
    omega

theorem sameAs_self (p : Path) : p.sameAs p = true := by
  rw [sameAs, Bool.and_eq_true, decide_eq_true_eq, decide_eq_true_eq]
  exact ⟨rfl, rfl⟩

/-! ## A name in a directory -/

theorem segments_join_ne_nil (p : Path) : (p.join name).segments ≠ [] := by
  unfold join
  split <;> exact List.concat_ne_nil _ _

theorem join_cons (h : segment ≠ "" ∨ rest ≠ []) :
    (⟨segment :: rest⟩ : Path).join name = ⟨segment :: ((⟨rest⟩ : Path).join name).segments⟩ := by
  cases rest with
  | nil =>
    obtain hne | hnil := h
    · simp [join, hne]
    · exact absurd rfl hnil
  | cons next rest =>
    unfold join
    rw [List.getLast?_cons_cons, List.dropLast_cons_cons]
    split <;> rfl

theorem stepsOf_join (segments : List String) (h : isIdle name = false) :
    stepsOf ((⟨segments⟩ : Path).join name).segments = stepsOf segments ++ [name] := by
  have hname := stepsOf_singleton h
  unfold join
  split
  · rename_i hlast
    obtain ⟨before, hsegments⟩ := List.getLast?_eq_some_iff.mp hlast
    obtain rfl : segments = before ++ [""] := hsegments
    -- the name takes the place of a blank segment, which is no step
    have hblank : stepsOf [""] = [] := rfl
    rw [List.dropLast_concat, stepsOf_append, stepsOf_append, hname, hblank, List.append_nil]
  · rw [stepsOf_append, hname]

/-- **A name in a directory is one step further**, from the same start. -/
theorem start_steps_join (p : Path) (h : isIdle name = false) :
    (p.join name).start = p.start ∧ (p.join name).steps = p.steps ++ [name] := by
  have hname : (⟨[name]⟩ : Path).start = .unnamed ∧ (⟨[name]⟩ : Path).steps = [name] := by
    obtain ⟨hstart, hsteps⟩ := start_steps (splitStart_named h)
    exact ⟨hstart, hsteps.trans (stepsOf_singleton h)⟩
  cases p.shape with
  | root rest hne =>
    have hjoin : ((⟨rest⟩ : Path).join name).segments ≠ [] := segments_join_ne_nil ⟨rest⟩
    obtain ⟨hstart, hsteps⟩ := start_steps (splitStart_root hne)
    obtain ⟨hstart', hsteps'⟩ := start_steps (splitStart_root hjoin)
    rw [join_cons (.inr hne), hstart, hstart', hsteps, hsteps', stepsOf_join rest h]
    exact ⟨rfl, rfl⟩
  | here rest =>
    rw [join_cons (.inl (by decide))]
    exact ⟨rfl, stepsOf_join rest h⟩
  | named segment rest hsegment =>
    have hne : segment ≠ "" := by
      rintro rfl
      exact absurd hsegment (by decide)
    obtain ⟨hstart, hsteps⟩ := start_steps (splitStart_named hsegment)
    obtain ⟨hstart', hsteps'⟩ := start_steps (splitStart_named hsegment)
    have hall := stepsOf_join (segment :: rest) h
    rw [join_cons (.inl hne)] at hall ⊢
    rw [hstart, hstart', hsteps, hsteps']
    exact ⟨rfl, hall⟩
  | blank => exact hname
  | empty => exact hname

/-- The paths to one name in the directories around a path mean different things. -/
theorem Outward.pairwise_join {dirs : List Path} (hup : Outward p dirs)
    (h : isIdle name = false) :
    (dirs.map (·.join name)).Pairwise fun p q => ¬ p.sameAs q = true := by
  rw [List.pairwise_map]
  refine hup.pairwise.imp fun {dir outer} hlt hsame => ?_
  obtain ⟨hstart, hsteps⟩ := start_steps_join dir h
  obtain ⟨hstart', hsteps'⟩ := start_steps_join outer h
  rw [sameAs, hstart, hsteps, hstart', hsteps', Bool.and_eq_true, decide_eq_true_eq,
    decide_eq_true_eq] at hsame
  have hheight : outer.height = dir.height := by
    rw [height, height, hsame.1, List.append_cancel_right hsame.2]
  exact absurd hheight (Nat.ne_of_lt hlt)

end Path

end SearchQuery
